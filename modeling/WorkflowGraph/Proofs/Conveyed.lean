import WorkflowGraph.Proofs.Spec.Conveyed

/-!
# Differences that settings make

By way of the simple shape a workflow may come back with a difference if a port is named like a setting
and holds a value of its own. The port comes back as the setting, which does not count among the
bindings of ports; but a configuration that is made for it has the defaults of all other settings, and
these count among the inputs. Main statement: `differences_conveyed`, which differences there are.
-/

namespace WorkflowGraph.Workflow

/-- Nodes of distinct ids, whose ports and settings are portable but that a port may pass as a setting
that takes its value. -/
@[mk_iff]
structure IsConveyable (w : Workflow) : Prop where
  nodeIds_nodup : w.nodeIds.Nodup
  nodes_conveyable : ∀ n ∈ w.nodes, n.IsConveyable
  /-- The names of outputs are not read as places. -/
  names_readable : Reference.HaveReadableNames w.nodes

instance (w : Workflow) : Decidable w.IsConveyable :=
  decidable_of_iff' _ (isConveyable_iff w)

theorem flatMap_differenceIf {α : Type} (p : α → Bool) (d : α → Difference) (as : List α) :
    (as.flatMap fun a => differenceIf (p a) (d a)) = (as.filter p).map d := by
  induction as with
  | nil => rfl
  | cons a as ih =>
    rw [List.flatMap_cons, ih]
    cases hp : p a with
    | true => simp [differenceIf, hp]
    | false => simp [differenceIf, hp]

namespace IsConveyable

variable {s : Surroundings} {now : Timestamp} {settings : Settings} {w : Workflow}

/-- All nodes come back, each with what was read as its settings. -/
theorem comesBack (h : w.IsConveyable) :
    ComesBack (Spec.conveyed w.nodes) w (w.restored s now settings .simple) where
  nodes_eq := by
    show (w.compiled now settings .simple).storable.restoreNodes.value = _
    rw [value_restoreNodes, nodes_compiled_simple, List.map_map, List.map_map]
    refine (List.append_nil _).trans (List.map_congr_left fun n hn => ?_)
    exact Spec.value_restore_conveyed (h.nodes_conveyable n hn) w.nodes _
  id_eq _ := rfl
  kind_eq _ := rfl

theorem haveOutputsOf (h : w.IsConveyable) :
    Reference.HaveOutputsOf (w.restored s now settings .simple).nodes w.nodes := by
  refine Reference.haveOutputsOf_of_forall h.nodeIds_nodup fun m hm => ?_
  rw [h.comesBack.nodes_eq] at hm
  obtain ⟨n, hn, rfl⟩ := List.mem_map.1 hm
  exact ⟨n, hn, rfl, (Spec.outputNames_conveyed w.nodes n).symm⟩

/-- The inputs of the nodes that do not keep them are all that differs. -/
theorem result_differences (h : w.IsConveyable) (hids : w.HasPlainIds)
    (hcompilable : w.isCompilable .simple = true)
    (hstorable : (w.compiled now settings .simple).isStorable = true) :
    (differences settings {} w (w.restored s now settings .simple)).result =
      .ok ((w.nodes.filter (!·.keepsInputs)).map (inputsDifference w.nodes)) := by
  have hback : ComesBack (Spec.conveyed w.nodes) w (w.restored s now settings .simple) := h.comesBack
  have hcompared : ∀ v : Workflow, comparedList {} v = v.nodes := comparedList_eq_nodes rfl
  have hnodes : comparedList {} (w.restored s now settings .simple) =
      (comparedList {} w).map (Spec.conveyed w.nodes) := by
    rw [hcompared, hcompared, hback.nodes_eq]
  have hfound : ∀ n ∈ comparedList {} w,
      (nodeDifferences w.nodes (w.restored s now settings .simple).nodes n
        (Spec.conveyed w.nodes n)).result =
          .ok (differenceIf (!n.keepsInputs) (inputsDifference w.nodes n)) := by
    intro n hn
    rw [hcompared] at hn
    have hlisted : n ∈ Spec.listedNodes .simple w := List.mem_filter.2 ⟨hn, rfl⟩
    rw [Spec.isStorable, Bool.and_eq_true, List.all_eq_true] at hstorable
    exact result_nodeDifferences_conveyed (h.nodes_conveyable n hn) h.haveOutputsOf h.names_readable
      (isCompilable_of_mem hcompilable hlisted) (hstorable.1 _ (List.mem_map_of_mem hlisted))
  rw [result_differences_of_map h.nodeIds_nodup hback.id_eq hnodes hfound
    (edgeDifferences_simple h.nodeIds_nodup hids hback), hcompared, flatMap_differenceIf]

end IsConveyable

/-- Whenever a workflow is written in the simple shape, what is restored from the document differs from
it in the inputs of those nodes that do not keep them, and in nothing else: of the nodes without a
configuration that have a port which passes as a setting, while they have none for another setting. A
workflow that can be written has a document. -/
theorem differences_conveyed {w : Workflow} (hw : w.IsConveyable) (hids : w.HasPlainIds)
    (s : Surroundings) (now : Timestamp) (settings : Settings) :
    (∀ document, (w.toSpecDocument now settings .simple).result = .ok document →
      ∃ r found, (ofSpecDocument s (.ok settings) document).result = .ok r ∧
        (differences settings {} w r).result = .ok found ∧
        found = (w.nodes.filter (!·.keepsInputs)).map (inputsDifference w.nodes) ∧
        (found = [] ↔ ∀ n ∈ w.nodes, n.keepsInputs = true)) ∧
    (w.IsWritable → ∃ document, (w.toSpecDocument now settings .simple).result = .ok document) := by
  refine ⟨fun document h => ?_, fun h => h.exists_document now settings .simple⟩
  obtain ⟨hcompilable, hstorable, rfl⟩ := result_toSpecDocument_eq_ok_iff.1 h
  refine ⟨w.restored s now settings .simple, _, result_ofSpecDocument s now settings .simple w,
    hw.result_differences hids hcompilable hstorable, rfl, ?_⟩
  rw [List.map_eq_nil_iff, List.filter_eq_nil_iff]
  exact forall₂_congr fun n _ => by rw [Bool.not_eq_true', Bool.not_eq_false]

/-- A question whose node has a port for the time to wait, and a configuration that is made from a
value. -/
def waiting (config : Json) : Workflow where
  id := "waiting"
  name := "Waiting"
  description := ""
  nodes := [(Node.make "ask" "interrupt" default "Ask" "" config
    (.ofList [("timeout", ⟨.literal, .int 30, .number⟩)]) .empty).value]
  edges := []
  createdAt := noon
  updatedAt := noon

/-- If the node has a configuration, the workflow comes back without differences. -/
theorem differences_conveyed_waiting :
    ∃ document r, ((waiting (.obj [])).toSpecDocument noon {} .simple).result = .ok document ∧
      (ofSpecDocument ⟨noon, "0001"⟩ (.ok {}) document).result = .ok r ∧
      (differences {} {} (waiting (.obj [])) r).result = .ok [] := by
  have h := differences_conveyed (by decide : (waiting (.obj [])).IsConveyable) (by decide)
    ⟨noon, "0001"⟩ noon {}
  obtain ⟨document, hdocument⟩ := h.2 (by decide)
  obtain ⟨r, found, hr, hfound, -, hnone⟩ := h.1 document hdocument
  rw [hnone.2 (by decide)] at hfound
  exact ⟨document, r, hdocument, hr, hfound⟩

/-- If it has none, the prompt of the configuration that is made for the port is new. -/
theorem differences_waiting_unconfigured :
    (waiting .null).IsConveyable ∧ (waiting .null).HasPlainIds ∧
      ∃ document r, ((waiting .null).toSpecDocument noon {} .simple).result = .ok document ∧
        (ofSpecDocument ⟨noon, "0001"⟩ (.ok {}) document).result = .ok r ∧
        (differences {} {} (waiting .null) r).result = .ok [.inputs "ask"
          (.obj [("message", .str "string"), ("timeout", .int 30)])
          (.obj [("message", .str "string"), ("prompt", .str "User input required"),
            ("timeout", .int 30)])] := by
  have hw : (waiting .null).IsConveyable := by decide
  have hids : (waiting .null).HasPlainIds := by decide
  have hwritable : (waiting .null).IsWritable := by decide
  obtain ⟨document, hdocument⟩ := hwritable.exists_document noon {} .simple
  obtain ⟨hcompilable, hstorable, rfl⟩ := result_toSpecDocument_eq_ok_iff.1 hdocument
  refine ⟨hw, hids, _, (waiting .null).restored ⟨noon, "0001"⟩ noon {} .simple, hdocument,
    result_ofSpecDocument ⟨noon, "0001"⟩ noon {} .simple _, ?_⟩
  rw [hw.result_differences hids hcompilable hstorable]
  exact congrArg Except.ok (by decide)

end WorkflowGraph.Workflow
