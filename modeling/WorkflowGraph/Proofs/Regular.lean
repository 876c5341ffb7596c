import WorkflowGraph.Proofs.Configured
import WorkflowGraph.Proofs.ControlFlow
import WorkflowGraph.Proofs.Numbering

/-!
# Workflows of specs are regular

Inputs of a spec are told apart by their names and values, and the settings among them are read
leniently, with defaults for what cannot be read. Whatever they are, the workflow has what it takes to
be written faithfully again: its ports are bound as their values say, no setting is taken for a port or
a port for a setting, each node has the settings of its kind or none, and edges are told apart by their
ids. For a node this follows from the spec node that it is restored from (`isRegular_restore`), for the
ids from the numbers that they end in. Main statement: `isRegular_of_spec`.
-/

namespace WorkflowGraph

/-! ## Nodes -/

/-- The ports of the node are told apart from its settings, and the settings are those of its kind. -/
structure Node.IsRegular (n : Node) : Prop where
  inputs_bound : ∀ e ∈ n.inputs.entries, e.2.binding = (Port.ofRaw e.2.value none).binding
  /-- Only a reference is a port under the name of a setting. -/
  literals_separate : ∀ e ∈ n.inputs.entries, e.2.binding = .literal → e.1 ∉ settingKeys n.kind
  settings_plain : n.HasPlainSettings
  kind_current : n.kind ≠ NodeKind.formerInterruptName
  settings_follow : n.FollowsKind

/-- A node of any kind with any inputs is restored as a regular one. -/
theorem Spec.isRegular_restore (positions : Table (Table Float64)) (m : Spec.Node) :
    (m.restore positions).value.IsRegular where
  inputs_bound := fun _ he => binding_of_mem_restore he
  literals_separate := fun _ he => not_mem_settingKeys_of_mem_restore he
  settings_plain := hasPlainSettings_restore positions m
  kind_current := kind_restore_ne positions m
  settings_follow := by
    have hconfig := config_restore positions m
    rw [← kind_restore positions m] at hconfig
    exact WorkflowGraph.Node.followsKind_of_configured hconfig

/-! ## Workflows -/

namespace Workflow

/-- All nodes are regular, and no two edges have the same id. -/
structure IsRegular (w : Workflow) : Prop where
  nodes_regular : ∀ n ∈ w.nodes, n.IsRegular
  edgeIds_nodup : w.edgeIds.Nodup

/-- The edges of a restored workflow are numbered, whatever the numbers are written after. -/
theorem nodup_edgeIds_toWorkflow (s : Surroundings) (settings : Settings) (spec : Spec) :
    (spec.toWorkflow s settings).value.edgeIds.Nodup := by
  rw [ids_toWorkflow]
  exact List.Nodup.map (Text.numbered_injective settings.edgeIdPrefix) List.nodup_range'

theorem isRegular_toWorkflow (s : Surroundings) (settings : Settings) (spec : Spec) :
    (spec.toWorkflow s settings).value.IsRegular := by
  refine ⟨fun n hn => ?_, nodup_edgeIds_toWorkflow s settings spec⟩
  obtain ⟨m, -, rfl⟩ := exists_restore_of_mem hn
  exact Spec.isRegular_restore spec.positions m

/-- Every document that is read as a workflow is read as a regular one. -/
theorem isRegular_of_spec {s : Surroundings} {settings : Settings} {document : Json} {w : Workflow}
    (h : (ofSpecDocument s (.ok settings) document).result = .ok w) : w.IsRegular := by
  obtain ⟨spec, -, rfl⟩ := result_ofSpecDocument_eq_ok_iff.1 h
  exact isRegular_toWorkflow s settings spec

/-- What is written by hand, with references under the names of settings, and an end node that is kept
besides. -/
def referring : Spec :=
  { handwritten with
    nodes := handwritten.nodes ++ [
      { id := "again", type := "interrupt", label := none
        inputs := .ofList [("prompt", .str "$ask.value"), ("timeout", .str "$config.timeout")]
        outputs := .empty, position := none }]
    metadata := some { Spec.Metadata.blank with
      terminals := [{ id := "done", type := "end", label := none, inputs := .empty
                      outputs := .empty, position := none }] } }

/-- The references are ports, also under the names of settings, and four edges are numbered. -/
theorem isRegular_of_spec_referring :
    ∃ w, (ofSpecDocument ⟨noon, "0001"⟩ (.ok {}) referring.toJson).result = .ok w ∧
      (w.nodes.map fun n => (n.kind, n.inputs.names)) =
        [("start", []), ("interrupt", ["message"]), ("llm", ["user_prompt"]),
          ("interrupt", ["prompt", "timeout"]), ("end", [])] ∧
      w.edgeIds = ["edge-1", "edge-2", "edge-3", "edge-4"] ∧ w.IsRegular := by
  have hread := Spec.result_ofSpecDocument_toJson ⟨noon, "0001"⟩ {} referring
  exact ⟨_, hread, by rfl, by rfl, isRegular_of_spec hread⟩

end Workflow

end WorkflowGraph
