import WorkflowGraph.Proofs.Edit
import WorkflowGraph.Proofs.Numbering

/-!
# Building as a run of changes

A builder keeps nodes and edges under their ids, where a later one takes the place of an earlier one,
and a workflow keeps them in lists and refuses ids that are taken. A step of building that adds or
removes something is a change of the workflow that is built, as long as nothing is replaced: the builder
mirrors the workflow (`Mirrors`), and each step keeps it so. Main statement: `build_mirrors_changes`.
-/

namespace WorkflowGraph.Builder

/-! ## Steps as changes -/

/-- The step adds or removes a node or an edge. -/
def Call.isStructural : Call → Bool
  | .addNode _ | .removeNode _ | .addEdge _ | .connect _ => true
  | _ => false

/-- The change of a workflow that a step is, with the node or the edge that it makes. There is none for
an id that is no text, since no node has it, nor if nothing is made. -/
def edit? (b : Builder) : Call → Option Edit
  | .addNode a => (makeNode a).result.toOption.map .addNode
  | .removeNode (.str id) => some (.removeNode id)
  | .addEdge e => some (.addEdge e)
  | .connect a => (makeEdge (b.claimId a.id).1 a).result.toOption.map .addEdge
  | _ => none

/-- The changes that a row of steps is. -/
def edits (b : Builder) : List Call → List Edit
  | [] => []
  | c :: rest => (b.edit? c).toList ++ edits (b.perform c).value.1 rest

/-- Each step adds or removes something, and succeeds. -/
def AreStructural (b : Builder) : List Call → Prop
  | [] => True
  | c :: rest =>
    c.isStructural = true ∧ (b.perform c).value.2 = none ∧ AreStructural (b.perform c).value.1 rest

/-- What is added has an id that the builder lacks. -/
def IsNew (b : Builder) : Edit → Prop
  | .addNode n => n.id ∉ b.nodes.names
  | .addEdge e => e.id ∉ b.edges.names
  | _ => True

/-- There is one start and one end at most. -/
@[mk_iff]
structure HasSingleTerminals (b : Builder) : Prop where
  starts_le_one : (b.nodes.entries.filter (·.2.isStart)).length ≤ 1
  ends_le_one : (b.nodes.entries.filter (·.2.isEnd)).length ≤ 1

/-- Each step adds under new ids only, and there is one start and one end at most after it. -/
def AreTidy (b : Builder) : List Call → Prop
  | [] => True
  | c :: rest =>
    (∀ edit ∈ b.edit? c, b.IsNew edit) ∧ (b.perform c).value.1.HasSingleTerminals ∧
      AreTidy (b.perform c).value.1 rest

instance (b : Builder) : DecidablePred b.IsNew
  | .addNode n => inferInstanceAs (Decidable (n.id ∉ b.nodes.names))
  | .addEdge e => inferInstanceAs (Decidable (e.id ∉ b.edges.names))
  | .removeNode _ | .updateNode _ _ | .renameNode _ _ | .removeEdge _ | .updateEdge _ _ =>
    isTrue trivial

instance (b : Builder) : Decidable b.HasSingleTerminals :=
  decidable_of_iff' _ (hasSingleTerminals_iff b)

instance decidableAreStructural (b : Builder) : (calls : List Call) → Decidable (AreStructural b calls)
  | [] => isTrue trivial
  | c :: rest =>
    have := decidableAreStructural (b.perform c).value.1 rest
    inferInstanceAs (Decidable (_ ∧ _ ∧ AreStructural (b.perform c).value.1 rest))

instance decidableAreTidy (b : Builder) : (calls : List Call) → Decidable (AreTidy b calls)
  | [] => isTrue trivial
  | c :: rest =>
    have := decidableAreTidy (b.perform c).value.1 rest
    inferInstanceAs (Decidable (_ ∧ _ ∧ AreTidy (b.perform c).value.1 rest))

/-- What a step that succeeds does, by the change that it is: nothing, or it puts a node or an edge under
its id, or it drops a node. A number may be used up. -/
inductive Does (b : Builder) : Option Edit → Builder → Prop
  | nothing : Does b none b
  | putNode (n : Node) : Does b (some (.addNode n)) (b.putNode n)
  | dropNode (id : String) : Does b (some (.removeNode id)) (b.dropNode id)
  | putEdge (e : Edge) (numbered : Nat) :
      Does b (some (.addEdge e)) ({ b with numbered }.putEdge e)

variable {b b' : Builder} {c : Call} {w r : Workflow} {now : Timestamp}

theorem does_perform (hc : c.isStructural = true) (h : (b.perform c).value = (b', none)) :
    Does b (b.edit? c) b' := by
  cases c with
  | addNode a =>
    rw [perform, value_settle] at h
    rw [edit?]
    cases hmade : (makeNode a).result with
    | error fault => rw [hmade] at h; cases h
    | ok n =>
      rw [hmade] at h
      cases h
      exact .putNode n
  | removeNode id =>
    cases id with
    | str id =>
      cases h
      exact .dropNode id
    | arr items => cases h
    | obj fields => cases h
    | _ =>
      cases h
      exact .nothing
  | addEdge e =>
    cases h
    exact .putEdge e b.numbered
  | connect a =>
    -- Of the builder, claiming an id changes the number at most.
    obtain ⟨numbered, hclaim⟩ : ∃ numbered, (b.claimId a.id).2 = { b with numbered } := by
      unfold claimId
      split
      · exact ⟨b.numbered + 1, rfl⟩
      · exact ⟨b.numbered, rfl⟩
    have hperform : b.perform (.connect a) =
        settle (b.claimId a.id).2 (makeEdge (b.claimId a.id).1 a) (b.claimId a.id).2.putEdge := rfl
    rw [hperform, value_settle] at h
    rw [edit?]
    cases hmade : (makeEdge (b.claimId a.id).1 a).result with
    | error fault => rw [hmade] at h; cases h
    | ok e =>
      rw [hmade, hclaim] at h
      cases h
      exact .putEdge e numbered
  | _ => cases hc

/-! ## Builders that mirror workflows -/

/-- The builder holds the nodes and the edges of the workflow in their order, each under its id. -/
structure Mirrors (b : Builder) (w : Workflow) : Prop where
  nodes_eq : b.nodes.entries = w.nodes.map fun n => (n.id, n)
  edges_eq : b.edges.entries = w.edges.map fun e => (e.id, e)

namespace Mirrors

theorem names_nodes (h : Mirrors b w) : b.nodes.names = w.nodeIds := by
  rw [Table.names, h.nodes_eq, List.map_map]
  rfl

theorem names_edges (h : Mirrors b w) : b.edges.names = w.edgeIds := by
  rw [Table.names, h.edges_eq, List.map_map]
  rfl

theorem hasSingleTerminals_iff (h : Mirrors b w) :
    b.HasSingleTerminals ↔ w.starts.length ≤ 1 ∧ w.ends.length ≤ 1 := by
  have hlength : ∀ p : Node → Bool, (b.nodes.entries.filter fun e => p e.2).length =
      (w.nodes.filter p).length := by
    intro p
    rw [h.nodes_eq, List.filter_map, List.length_map]
    rfl
  rw [Workflow.starts, Workflow.ends, ← hlength, ← hlength]
  exact ⟨fun hsingle => ⟨hsingle.1, hsingle.2⟩, fun hsingle => ⟨hsingle.1, hsingle.2⟩⟩

theorem putNode (h : Mirrors b w) (now : Timestamp) {n : Node} (hn : n.id ∉ b.nodes.names) :
    Mirrors (b.putNode n) { w with nodes := w.nodes ++ [n], updatedAt := now } := by
  refine ⟨?_, h.edges_eq⟩
  rw [Builder.putNode, Table.entries_insert_of_not_mem hn, h.nodes_eq, List.map_append]
  rfl

theorem putEdge (h : Mirrors b w) {e : Edge} (he : e.id ∉ b.edges.names) (numbered : Nat) :
    Mirrors ({ b with numbered }.putEdge e)
      { w with edges := w.edges ++ [e], updatedAt := now } := by
  refine ⟨h.nodes_eq, ?_⟩
  rw [Builder.putEdge, Table.entries_insert_of_not_mem he, h.edges_eq, List.map_append]
  rfl

theorem dropNode (h : Mirrors b w) (id : String) :
    Mirrors (b.dropNode id) (w.removeNode now id) := by
  constructor
  · show b.nodes.entries.filter _ = _
    rw [h.nodes_eq, List.filter_map]
    rfl
  · show b.edges.entries.filter _ = _
    rw [h.edges_eq, List.filter_map]
    -- The builder drops the edges with an end at the node, the workflow keeps those with both elsewhere.
    refine congrArg (List.map _) (List.filter_congr fun e _ => ?_)
    exact Bool.not_or _ _

end Mirrors

/-! ## One step -/

/-- A workflow with one start and one end at most accepts a node exactly if its id is new and there are
not more of them with it. -/
theorem Mirrors.exists_addNode_iff (h : Mirrors b w) (hb : b.HasSingleTerminals) {n : Node} :
    (∃ r, w.addNode now n = .ok r) ↔
      n.id ∉ b.nodes.names ∧ (b.putNode n).HasSingleTerminals := by
  simp only [Workflow.addNode_eq_ok_iff, exists_and_left, exists_eq, and_true, ← h.names_nodes]
  refine and_congr_right fun hid => ?_
  have hkinds := (Workflow.onceEach_kinds_iff w).2 (h.hasSingleTerminals_iff.1 hb)
  rw [(h.putNode now hid).hasSingleTerminals_iff, ← Workflow.onceEach_kinds_iff,
    Workflow.kinds, List.map_append]
  exact Workflow.canAdd_iff.trans hkinds.append_singleton_iff.symm

theorem HasSingleTerminals.dropNode (hb : b.HasSingleTerminals) (id : String) :
    (b.dropNode id).HasSingleTerminals := by
  have hkept : (b.dropNode id).nodes.entries.Sublist b.nodes.entries := List.filter_sublist
  exact ⟨le_trans (hkept.filter _).length_le hb.starts_le_one,
    le_trans (hkept.filter _).length_le hb.ends_le_one⟩

/-- The change that a step is is accepted exactly if the step is tidy. -/
theorem Mirrors.exists_apply_iff (h : Mirrors b w) (now : Timestamp) (hb : b.HasSingleTerminals)
    {edit : Edit} (hstep : Does b (some edit) b') :
    (∃ r, (edit.apply now w).result = .ok r) ↔ b.IsNew edit ∧ b'.HasSingleTerminals := by
  cases hstep with
  | putNode n =>
    simp only [Edit.apply, Attempt.result_ofExcept]
    exact h.exists_addNode_iff hb
  | dropNode id => exact iff_of_true ⟨_, rfl⟩ ⟨trivial, hb.dropNode id⟩
  | putEdge e numbered =>
    simp only [Edit.apply, Attempt.result_ofExcept, Workflow.addEdge_eq_ok_iff, exists_and_left,
      exists_eq, and_true, ← h.names_edges]
    exact ⟨fun hid => ⟨hid, hb.1, hb.2⟩, fun hnew => hnew.1⟩

/-- A step and the change that it is lead to a builder and a workflow that it mirrors. -/
theorem Mirrors.apply (h : Mirrors b w) {edit : Edit} (hstep : Does b (some edit) b')
    (hr : (edit.apply now w).result = .ok r) : Mirrors b' r := by
  cases hstep with
  | putNode n =>
    rw [Edit.apply, Attempt.result_ofExcept] at hr
    obtain ⟨⟨hid, -⟩, rfl⟩ := Workflow.addNode_eq_ok_iff.1 hr
    exact h.putNode now (h.names_nodes ▸ hid)
  | dropNode id =>
    cases hr
    exact h.dropNode id
  | putEdge e numbered =>
    rw [Edit.apply, Attempt.result_ofExcept] at hr
    obtain ⟨hid, rfl⟩ := Workflow.addEdge_eq_ok_iff.1 hr
    exact h.putEdge (h.names_edges ▸ hid) numbered

/-! ## Rows of steps -/

/-- The changes that a row of steps is are accepted exactly if the steps are tidy, and then the builder
mirrors the workflow that they lead to. -/
theorem Mirrors.applyAll {calls : List Call} (h : Mirrors b w) (hb : b.HasSingleTerminals)
    (hcalls : AreStructural b calls) {timed : List (Timestamp × Edit)}
    (htimed : timed.map Prod.snd = edits b calls) :
    ((∃ r, (Edit.applyAll w timed).result = .ok r) ↔ AreTidy b calls) ∧
      ∀ r, (Edit.applyAll w timed).result = .ok r → Mirrors (ofCalls.go b calls).value r := by
  -- the builder mirrors the workflow before each step, so the induction is for all such pairs
  induction calls generalizing b w timed with
  | nil =>
    obtain rfl := List.map_eq_nil_iff.1 htimed
    refine ⟨iff_of_true ⟨w, rfl⟩ trivial, fun r hr => ?_⟩
    cases hr
    exact h
  | cons c calls ih =>
    obtain ⟨hc, hok, hrest⟩ := hcalls
    have hstep : Does b (b.edit? c) (b.perform c).value.1 := does_perform hc (Prod.ext rfl hok)
    rw [edits] at htimed
    rw [AreTidy]
    show _ ∧ ∀ r, _ → Mirrors (ofCalls.go (b.perform c).value.1 calls).value r
    cases hedit : b.edit? c with
    | none =>
      -- No change goes with the step, and the builder stays as it is.
      rw [hedit] at hstep htimed
      generalize (b.perform c).value.1 = b' at hstep htimed hrest ⊢
      cases hstep
      obtain ⟨hiff, hmirrors⟩ := ih h hb hrest htimed
      refine ⟨hiff.trans ⟨fun htidy => ⟨?_, hb, htidy⟩, fun htidy => htidy.2.2⟩, hmirrors⟩
      intro edit hnone
      cases hnone
    | some edit =>
      rw [hedit] at hstep htimed
      obtain ⟨⟨now, _⟩, timed, rfl, rfl, hlater⟩ := List.map_eq_cons_iff.1 htimed
      simp only [Option.mem_def, Option.some.injEq, forall_eq']
      have haccepted := h.exists_apply_iff now hb hstep
      constructor
      · constructor
        · rintro ⟨r, hr⟩
          obtain ⟨next, hnext, hr⟩ := Attempt.result_bind_eq_ok_iff.1 hr
          obtain ⟨hnew, hsingle⟩ := haccepted.1 ⟨next, hnext⟩
          exact ⟨hnew, hsingle, (ih (h.apply hstep hnext) hsingle hrest hlater).1.1 ⟨r, hr⟩⟩
        · rintro ⟨hnew, hsingle, htidy⟩
          obtain ⟨next, hnext⟩ := haccepted.2 ⟨hnew, hsingle⟩
          rw [Workflow.result_applyAll_cons hnext]
          exact (ih (h.apply hstep hnext) hsingle hrest hlater).1.2 htidy
      · intro r hr
        obtain ⟨next, hnext, hr⟩ := Attempt.result_bind_eq_ok_iff.1 hr
        obtain ⟨-, hsingle⟩ := haccepted.1 ⟨next, hnext⟩
        exact (ih (h.apply hstep hnext) hsingle hrest hlater).2 r hr

/-! ## Workflows that are built -/

/-- Neither an id nor a name nor a description has been set. -/
structure IsUntitled (b : Builder) : Prop where
  id_eq : b.id = .null
  name_eq : b.name = .str Workflow.unnamed
  description_eq : b.description = .str ""

theorem IsUntitled.go {calls : List Call} (h : b.IsUntitled) (hcalls : AreStructural b calls) :
    (ofCalls.go b calls).value.IsUntitled := by
  induction calls generalizing b with
  | nil => exact h
  | cons c calls ih =>
    obtain ⟨hc, hok, hrest⟩ := hcalls
    have hstep : Does b (b.edit? c) (b.perform c).value.1 := does_perform hc (Prod.ext rfl hok)
    refine ih ?_ hrest
    generalize b.edit? c = edit at hstep
    generalize (b.perform c).value.1 = b' at hstep
    cases hstep <;> exact ⟨h.id_eq, h.name_eq, h.description_eq⟩

theorem IsUntitled.exists_build (h : b.IsUntitled) (s : Surroundings) :
    ∃ built, build s b = .ok built ∧ built.nodes = b.nodes.entries.map (·.2) ∧
      built.edges = b.edges.entries.map (·.2) := by
  unfold build
  rw [h.id_eq, h.name_eq, h.description_eq]
  exact ⟨_, rfl, rfl, rfl⟩

/-- A row of steps that add and remove is a row of changes of an empty workflow. These are accepted
exactly if each step adds under new ids only and there is one start and one end at most at any time, and
then what is built has the nodes and the edges of the workflow that they lead to, in the same order. -/
theorem build_mirrors_changes (s : Surroundings) {calls : List Call} (hcalls : AreStructural {} calls)
    (hnodes : w.nodes = []) (hedges : w.edges = []) {timed : List (Timestamp × Edit)}
    (htimed : timed.map Prod.snd = edits {} calls) :
    ((∃ r, (Edit.applyAll w timed).result = .ok r) ↔ AreTidy {} calls) ∧
      ∀ r, (Edit.applyAll w timed).result = .ok r →
        ∃ built, build s (after calls) = .ok built ∧ built.nodes = r.nodes ∧ built.edges = r.edges := by
  have hempty : Mirrors {} w := ⟨by rw [hnodes]; rfl, by rw [hedges]; rfl⟩
  have hsingle : HasSingleTerminals {} := ⟨Nat.zero_le 1, Nat.zero_le 1⟩
  obtain ⟨hiff, hmirrors⟩ := hempty.applyAll hsingle hcalls htimed
  refine ⟨hiff, fun r hr => ?_⟩
  have hafter : Mirrors (after calls) r := hmirrors r hr
  obtain ⟨built, hbuilt, hbuiltNodes, hbuiltEdges⟩ :=
    (IsUntitled.go ⟨rfl, rfl, rfl⟩ hcalls).exists_build s
  refine ⟨built, hbuilt, ?_, ?_⟩
  · rw [hbuiltNodes]
    show (after calls).nodes.entries.map (·.2) = r.nodes
    rw [hafter.nodes_eq, List.map_map]
    exact List.map_id _
  · rw [hbuiltEdges]
    show (after calls).edges.entries.map (·.2) = r.edges
    rw [hafter.edges_eq, List.map_map]
    exact List.map_id _

/-- A step is removed with the edge to it and made again, so that it stands behind the end. -/
def rebuilt : List Call :=
  [.addStart (.str "begin") (.str "Begin"),
    .addNode { id := .str "step", kind := .str "custom" },
    .connect (joined "begin" "step" .null), .addEnd (.str "finish") (.str "Finish"),
    .removeNode (.str "step"), .addNode { id := .str "step", kind := .str "custom" },
    .connect (joined "begin" "step" .null), .connect (joined "step" "finish" (.str "last"))]

theorem build_mirrors_changes_rebuilt :
    AreStructural {} rebuilt ∧ AreTidy {} rebuilt ∧
      ∃ built r,
        (Edit.applyAll Workflow.blank ((edits {} rebuilt).map fun e => (Workflow.noon, e))).result =
          .ok r ∧
        build ⟨Workflow.noon, "0001"⟩ (after rebuilt) = .ok built ∧ built.nodes = r.nodes ∧
        built.edges = r.edges ∧ r.nodeIds = ["begin", "finish", "step"] ∧
        r.edgeIds = ["edge-2", "last"] := by
  have hcalls : AreStructural {} rebuilt := by decide +kernel
  have htidy : AreTidy {} rebuilt := by decide +kernel
  have htimed :
      ((edits {} rebuilt).map fun e => (Workflow.noon, e)).map Prod.snd = edits {} rebuilt := by
    rw [List.map_map]
    exact List.map_id _
  obtain ⟨hiff, hbuild⟩ :=
    build_mirrors_changes ⟨Workflow.noon, "0001"⟩ (w := Workflow.blank) hcalls rfl rfl htimed
  obtain ⟨r, hr⟩ := hiff.2 htidy
  obtain ⟨built, hbuilt, hnodes, hedges⟩ := hbuild r hr
  refine ⟨hcalls, htidy, built, r, hr, hbuilt, hnodes, hedges, ?_, ?_⟩
  · cases hr
    rfl
  · cases hr
    rfl

end WorkflowGraph.Builder
